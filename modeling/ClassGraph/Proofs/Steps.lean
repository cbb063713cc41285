import ClassGraph.Rust.Calls

/-!
# A walk, step by step

Expressions, types, patterns and parts hold each other, and a walk goes through all of them. What it
*does* on its way is little: it comes to a call, or it binds a pattern to nothing, to a value or to
the elements of a value. `steps` lists what is done in a text, in order and by the text alone, and
**a walk is the run of its steps** (`Walk.parts_eq_run`).

Whatever is to be shown of a walk is then shown for one step and carried along a list. The induction
over the syntax is made here, once.
-/

set_option autoImplicit false

namespace ClassGraph.Rust

/-- What a walk does on its way. -/
inductive Step where
  /-- It comes to a call. -/
  | call (e : Expr)
  | unbind (p : Pat)
  | bindValue (p : Pat) (value : Expr)
  | bindElement (p : Pat) (iterated : Expr)

/-! ## The steps of a text -/

mutual

/-- What a walk does in an expression. A call comes before what is in its receiver and its arguments. -/
def Expr.steps : Expr → List Step
  | .path _ _ ps => partsSteps ps
  | .field base _ => base.steps
  | .methodCall receiver method generics args =>
    .call (.methodCall receiver method generics args)
      :: (receiver.steps ++ partsSteps generics ++ partsSteps args)
  | .call callee args => .call (.call callee args) :: (callee.steps ++ partsSteps args)
  | .record _ ps => partsSteps ps
  | .reference e => e.steps
  | .paren e => e.steps
  | .group before e => partsSteps before ++ e.steps
  | .deref e => e.steps
  | .attempt e => e.steps
  | .cast e t => e.steps ++ t.steps
  -- All parameters are bound before anything in the closure is looked at.
  | .closure before params output body =>
    params.map .unbind
      ++ (partsSteps before ++ patternsSteps params ++ partsSteps output ++ body.steps)
  | .forLoop p iterated body => iterated.steps ++ .bindElement p iterated :: partsSteps body
  | .block ps => partsSteps ps
  | .other ps => partsSteps ps

def Ty.steps : Ty → List Step
  | .reference t => t.steps
  | .paren t => t.steps
  | .group t => t.steps
  | .slice t => t.steps
  | .array t length => t.steps ++ length.steps
  | .traits _ ps => partsSteps ps
  | .path before _ args => partsSteps before ++ argumentsSteps args
  | .other ps => partsSteps ps

def Arg.steps : Arg → List Step
  | .type t => t.steps
  | .other ps => partsSteps ps

def argumentsSteps : List Arg → List Step
  | [] => []
  | a :: rest => a.steps ++ argumentsSteps rest

def Pat.steps : Pat → List Step
  | .ident _ ps => partsSteps ps
  | .typed p t => p.steps ++ t.steps
  | .reference p => p.steps
  | .paren p => p.steps
  | .other ps => partsSteps ps

def patternsSteps : List Pat → List Step
  | [] => []
  | p :: rest => p.steps ++ patternsSteps rest

/-- What a walk does in a part. A name is bound only after the value has been looked at, so that a value may
    use the name that it is bound to. -/
def Part.steps : Part → List Step
  | .expr e => e.steps
  | .type t => t.steps
  | .pattern p => p.steps
  | .bind p none _ => [.unbind p]
  | .bind p (some e) none => e.steps ++ [.bindValue p e]
  | .bind p (some e) (some diverge) => e.steps ++ diverge.steps ++ [.bindValue p e]

def partsSteps : List Part → List Step
  | [] => []
  | p :: rest => p.steps ++ partsSteps rest

end

/-- What a walk does in the body of a function; a declaration has none. -/
def Function.steps (f : Function) : List Step := partsSteps (f.body.getD [])

/-! ## Running steps -/

/-- What is recorded of a call under some bindings. -/
def Expr.invocation? (s : Surroundings) (b : Bindings) : Expr → Option Invocation
  | .methodCall receiver method _ _ => some (s.methodCall b receiver method)
  | .call (.path segments _ _) _ => s.pathCall? segments
  | _ => none

/-- What one step does to a walk: a call is recorded under the bindings at hand, and anything else
    changes the bindings only. -/
def Step.run (s : Surroundings) (w : Walk) : Step → Walk
  | .call e => { w with calls := w.calls ++ (e.invocation? s w.bindings).toList }
  | .unbind p => w.bind s p none
  | .bindValue p e => w.bind s p (s.label? w.bindings e)
  | .bindElement p e => w.bind s p ((s.label? w.bindings e).bind Label.inner?)

namespace Walk

/-- One step after the other. -/
def run (s : Surroundings) (w : Walk) (steps : List Step) : Walk := steps.foldl (Step.run s) w

variable {s : Surroundings}

@[simp]
theorem run_nil (w : Walk) : run s w [] = w := rfl

@[simp]
theorem run_cons (w : Walk) (step : Step) (steps : List Step) :
    run s w (step :: steps) = run s (step.run s w) steps := rfl

@[simp]
theorem run_append (w : Walk) (xs ys : List Step) : run s w (xs ++ ys) = run s (run s w xs) ys :=
  List.foldl_append

theorem run_unbinds (w : Walk) (ps : List Pat) :
    run s w (ps.map .unbind) = ps.foldl (fun w p => w.bind s p none) w := by
  rw [run, List.foldl_map]
  rfl

/-- A call of a path is one step, whatever its arguments are. -/
theorem recordPath_eq_run (w : Walk) (callee : Expr) (args : List Part) :
    recordPath s w callee = Step.run s w (.call (.call callee args)) := by
  cases callee with
  | path segments plain ps =>
    rw [recordPath, Step.run, Expr.invocation?]
    cases s.pathCall? segments with
    | none => simp
    | some call => rfl
  | _ => simp [recordPath, Step.run, Expr.invocation?]

mutual

/-- The walk through an expression, one case per constructor; the other six walk through what an
    expression can hold. -/
theorem expr_eq_run : ∀ (e : Expr) (w : Walk), expr s w e = run s w e.steps
  | .path _ _ ps, w => by rw [expr, Expr.steps, parts_eq_run ps]
  | .field base _, w => by rw [expr, Expr.steps, expr_eq_run base]
  | .methodCall receiver method generics args, w => by
    rw [Expr.steps, run_cons, run_append, run_append, ← expr_eq_run receiver,
      ← parts_eq_run generics, ← parts_eq_run args, expr]
    rfl
  | .call callee args, w => by
    rw [Expr.steps, run_cons, run_append, ← recordPath_eq_run, ← expr_eq_run callee,
      ← parts_eq_run args, expr]
  | .record _ ps, w => by rw [expr, Expr.steps, parts_eq_run ps]
  | .reference e, w => by rw [expr, Expr.steps, expr_eq_run e]
  | .paren e, w => by rw [expr, Expr.steps, expr_eq_run e]
  | .group before e, w => by
    rw [expr, Expr.steps, run_append, parts_eq_run before, expr_eq_run e]
  | .deref e, w => by rw [expr, Expr.steps, expr_eq_run e]
  | .attempt e, w => by rw [expr, Expr.steps, expr_eq_run e]
  | .cast e t, w => by rw [expr, Expr.steps, run_append, expr_eq_run e, type_eq_run t]
  | .closure before params output body, w => by
    rw [expr, Expr.steps, run_append, run_unbinds, run_append, run_append, run_append,
      parts_eq_run before, patterns_eq_run params, parts_eq_run output, expr_eq_run body]
  | .forLoop p iterated body, w => by
    rw [expr, Expr.steps, run_append, run_cons, expr_eq_run iterated, parts_eq_run body]
    rfl
  | .block ps, w => by rw [expr, Expr.steps, parts_eq_run ps]
  | .other ps, w => by rw [expr, Expr.steps, parts_eq_run ps]

theorem type_eq_run : ∀ (t : Ty) (w : Walk), type s w t = run s w t.steps
  | .reference t, w => by rw [type, Ty.steps, type_eq_run t]
  | .paren t, w => by rw [type, Ty.steps, type_eq_run t]
  | .group t, w => by rw [type, Ty.steps, type_eq_run t]
  | .slice t, w => by rw [type, Ty.steps, type_eq_run t]
  | .array t length, w => by rw [type, Ty.steps, run_append, type_eq_run t, expr_eq_run length]
  | .traits _ ps, w => by rw [type, Ty.steps, parts_eq_run ps]
  | .path before _ args, w => by
    rw [type, Ty.steps, run_append, parts_eq_run before, arguments_eq_run args]
  | .other ps, w => by rw [type, Ty.steps, parts_eq_run ps]

theorem argument_eq_run : ∀ (a : Arg) (w : Walk), argument s w a = run s w a.steps
  | .type t, w => by rw [argument, Arg.steps, type_eq_run t]
  | .other ps, w => by rw [argument, Arg.steps, parts_eq_run ps]

theorem arguments_eq_run : ∀ (as : List Arg) (w : Walk), arguments s w as = run s w (argumentsSteps as)
  | [], w => by rw [arguments, argumentsSteps, run_nil]
  | a :: rest, w => by
    rw [arguments, argumentsSteps, run_append, argument_eq_run a, arguments_eq_run rest]

theorem pattern_eq_run : ∀ (p : Pat) (w : Walk), pattern s w p = run s w p.steps
  | .ident _ ps, w => by rw [pattern, Pat.steps, parts_eq_run ps]
  | .typed p t, w => by rw [pattern, Pat.steps, run_append, pattern_eq_run p, type_eq_run t]
  | .reference p, w => by rw [pattern, Pat.steps, pattern_eq_run p]
  | .paren p, w => by rw [pattern, Pat.steps, pattern_eq_run p]
  | .other ps, w => by rw [pattern, Pat.steps, parts_eq_run ps]

theorem patterns_eq_run : ∀ (ps : List Pat) (w : Walk), patterns s w ps = run s w (patternsSteps ps)
  | [], w => by rw [patterns, patternsSteps, run_nil]
  | p :: rest, w => by
    rw [patterns, patternsSteps, run_append, pattern_eq_run p, patterns_eq_run rest]

theorem part_eq_run : ∀ (p : Part) (w : Walk), part s w p = run s w p.steps
  | .expr e, w => by rw [part, Part.steps, expr_eq_run e]
  | .type t, w => by rw [part, Part.steps, type_eq_run t]
  | .pattern p, w => by rw [part, Part.steps, pattern_eq_run p]
  | .bind p none diverge, w => by
    rw [part, Part.steps]
    rfl
  | .bind p (some e) none, w => by
    rw [part, Part.steps, run_append, expr_eq_run e]
    rfl
  | .bind p (some e) (some diverge), w => by
    rw [part, Part.steps, run_append, run_append, expr_eq_run e, expr_eq_run diverge]
    rfl

/-- **A walk is the run of its steps.** -/
theorem parts_eq_run : ∀ (ps : List Part) (w : Walk), parts s w ps = run s w (partsSteps ps)
  | [], w => by rw [parts, partsSteps, run_nil]
  | p :: rest, w => by rw [parts, partsSteps, run_append, part_eq_run p, parts_eq_run rest]

end

/-- Where the walk through a function starts. -/
def start (owner : String) (params : List Param) : Walk := ⟨Bindings.ofParams owner params, []⟩

end Walk

/-! ## What a label is read off -/

/-- The name that an expression starts with, if its label is read off the label of a name. -/
def Expr.root? : Expr → Option String
  | .path [name] true _ => some name
  | .path _ _ _ => none
  | .field base _ => base.root?
  | .methodCall receiver _ _ _ => receiver.root?
  | .reference e => e.root?
  | .paren e => e.root?
  | .group _ e => e.root?
  | .deref e => e.root?
  | .attempt e => e.root?
  | _ => none

/-- A label depends on the bindings only through the name that the expression starts with. -/
theorem Surroundings.label?_eq_of_root (s : Surroundings) {b c : Bindings} {e : Expr}
    (h : ∀ x, e.root? = some x → b.find? x = c.find? x) : s.label? b e = s.label? c e := by
  fun_induction Surroundings.label? s b e with
  | case1 name parts => exact h name rfl
  | case2 segments plain parts hplain => rw [label?]; exact hplain
  | case3 base member ih => rw [label?, ih h]
  | case4 receiver method generics args ih => rw [label?, ih h]
  | case8 e ih => rw [label?, ih h]
  | case9 e ih => rw [label?, ih h]
  | case10 before e ih => rw [label?, ih h]
  | case11 e ih => rw [label?, ih h]
  | case12 e ih => rw [label?, ih h]
  | case6 callee args hcallee => rw [label?]; exact hcallee
  | _ => rw [label?]

/-! ## What a step binds -/

/-- The name that a pattern binds. -/
def Pat.name? : Pat → Option String
  | .ident name _ => some name
  | .typed p _ => p.name?
  | .reference p => p.name?
  | .paren p => p.name?
  | .other _ => none

/-- The label that a pattern gives to its name, from the label of what it is bound to. -/
def Pat.label? (owner : String) : Pat → Option Label → Option Label
  | .ident _ _, label => label
  | .typed p t, label => p.label? owner ((t.label? owner).or label)
  | .reference p, label => p.label? owner label
  | .paren p, label => p.label? owner label
  | .other _, label => label

namespace Bindings

theorem lookup_cons_ne {x : String} {e : String × Label} (h : e.1 ≠ x)
    (es : List (String × Label)) : (e :: es).lookup x = es.lookup x := by
  rw [List.lookup_cons, beq_false_of_ne h.symm]

theorem lookup_filter_ne (name x : String) (es : List (String × Label)) :
    (es.filter fun e => e.1 ≠ name).lookup x = if name = x then none else es.lookup x := by
  induction es with
  | nil => simp
  | cons e es ih =>
    by_cases he : e.1 = name
    · rw [List.filter_cons_of_neg (by simpa using he), ih]
      by_cases hx : name = x
      · rw [if_pos hx, if_pos hx]
      · rw [if_neg hx, if_neg hx, lookup_cons_ne (he ▸ hx)]
    · rw [List.filter_cons_of_pos (by simpa using he)]
      by_cases hx : e.1 = x
      · rw [if_neg (fun h => he (hx.trans h.symm))]
        rw [List.lookup_cons, List.lookup_cons, hx, beq_self_eq_true]
      · rw [lookup_cons_ne hx, lookup_cons_ne hx, ih]

/-- A name has the label that it was given last. -/
theorem find?_set (b : Bindings) (name x : String) (label : Option Label) :
    (b.set name label).find? x = if name = x then label else b.find? x := by
  cases label with
  | none => exact lookup_filter_ne name x b.entries
  | some label =>
    by_cases h : name = x
    · simp [find?, set, h]
    · rw [if_neg h]
      exact lookup_cons_ne h b.entries

/-- Binding a pattern changes the label of its own name and of no other. -/
theorem find?_bind (owner : String) (b : Bindings) (p : Pat) (label : Option Label) (x : String) :
    (b.bind owner p label).find? x
      = if p.name? = some x then p.label? owner label else b.find? x := by
  fun_induction Bindings.bind owner b p label with
  | case1 name parts label => simp [Pat.name?, Pat.label?, find?_set]
  | case2 p t label ih => exact ih
  | case3 p label ih => exact ih
  | case4 p label ih => exact ih
  | case5 parts label => simp [Pat.name?]

end Bindings

/-- The name that a step binds, if any. -/
def Step.binds? : Step → Option String
  | .call _ => none
  | .unbind p => p.name?
  | .bindValue p _ => p.name?
  | .bindElement p _ => p.name?

variable {s : Surroundings} {x : String}

/-- One step changes the label of the name that it binds and of no other. -/
theorem Step.find?_run {step : Step} (h : step.binds? ≠ some x) (w : Walk) :
    (step.run s w).bindings.find? x = w.bindings.find? x := by
  cases step with
  | call e => rfl
  | unbind p => exact (Bindings.find?_bind ..).trans (if_neg h)
  | bindValue p value => exact (Bindings.find?_bind ..).trans (if_neg h)
  | bindElement p iterated => exact (Bindings.find?_bind ..).trans (if_neg h)

/-- A run that does not bind a name leaves its label as it is. -/
theorem Walk.find?_run {steps : List Step} (h : ∀ step ∈ steps, step.binds? ≠ some x) (w : Walk) :
    (Walk.run s w steps).bindings.find? x = w.bindings.find? x := by
  induction steps generalizing w with
  | nil => rfl
  | cons step steps ih =>
    rw [run_cons, ih (fun st hst => h st (List.mem_cons_of_mem _ hst)),
      Step.find?_run (h step List.mem_cons_self)]

/-- The calls of a function are those that the run of its steps records. -/
theorem Function.calls_eq_run (s : Surroundings) (f : Function) :
    f.calls s = (Walk.run s (Walk.start s.owner f.params) f.steps).calls := by
  unfold Function.calls Function.steps
  cases f.body with
  | none => simp [partsSteps, Walk.start]
  | some body => exact congrArg Walk.calls (Walk.parts_eq_run body _)

end ClassGraph.Rust
