import ClassGraph.Proofs.Steps
import Mathlib.Data.List.Forall2

/-!
# Which calls are recorded

A walk records calls and, between them, guesses labels, and the guesses depend on the index, on the
owner and on what is bound. **Which** calls it records does not: `callNodes` lists the calls of a text,
each in front of those inside it, without a word about labels, and the names of what is recorded are
the names of these nodes, in order (`recorded_calls_are_syntax`). Only what is known of a receiver is
left to the guesses, and a record never holds both a receiver and a declaring class.

The list goes wherever the walk goes: through closures, through the parts of a nested item, through
the arguments of a macro call (`other` with its parts). The pattern of a `let` or of a `for` is not
entered.
-/

set_option autoImplicit false

namespace ClassGraph.Rust

/-! ## The calls of a text -/

mutual

/-- The calls in an expression, each in front of those in its receiver or callee and in its
    arguments. -/
def Expr.callNodes : Expr → List Expr
  | .path _ _ ps => partsCallNodes ps
  | .field base _ => base.callNodes
  | .methodCall receiver method generics args =>
    .methodCall receiver method generics args
      :: (receiver.callNodes ++ partsCallNodes generics ++ partsCallNodes args)
  | .call callee args => .call callee args :: (callee.callNodes ++ partsCallNodes args)
  | .record _ ps => partsCallNodes ps
  | .reference e => e.callNodes
  | .paren e => e.callNodes
  | .group before e => partsCallNodes before ++ e.callNodes
  | .deref e => e.callNodes
  | .attempt e => e.callNodes
  | .cast e t => e.callNodes ++ t.callNodes
  | .closure before params output body =>
    partsCallNodes before ++ patternsCallNodes params ++ partsCallNodes output ++ body.callNodes
  | .forLoop _ iterated body => iterated.callNodes ++ partsCallNodes body
  | .block ps => partsCallNodes ps
  | .other ps => partsCallNodes ps

def Ty.callNodes : Ty → List Expr
  | .reference t => t.callNodes
  | .paren t => t.callNodes
  | .group t => t.callNodes
  | .slice t => t.callNodes
  | .array t length => t.callNodes ++ length.callNodes
  | .traits _ ps => partsCallNodes ps
  | .path before _ args => partsCallNodes before ++ argumentsCallNodes args
  | .other ps => partsCallNodes ps

def Arg.callNodes : Arg → List Expr
  | .type t => t.callNodes
  | .other ps => partsCallNodes ps

def argumentsCallNodes : List Arg → List Expr
  | [] => []
  | a :: rest => a.callNodes ++ argumentsCallNodes rest

def Pat.callNodes : Pat → List Expr
  | .ident _ ps => partsCallNodes ps
  | .typed p t => p.callNodes ++ t.callNodes
  | .reference p => p.callNodes
  | .paren p => p.callNodes
  | .other ps => partsCallNodes ps

def patternsCallNodes : List Pat → List Expr
  | [] => []
  | p :: rest => p.callNodes ++ patternsCallNodes rest

def Part.callNodes : Part → List Expr
  | .expr e => e.callNodes
  | .type t => t.callNodes
  | .pattern p => p.callNodes
  | .bind _ none _ => []
  | .bind _ (some e) none => e.callNodes
  | .bind _ (some e) (some diverge) => e.callNodes ++ diverge.callNodes

def partsCallNodes : List Part → List Expr
  | [] => []
  | p :: rest => p.callNodes ++ partsCallNodes rest

end

/-- The name under which a call is recorded. A capital at the start of the last segment makes a
    constructor, which is no call. -/
def Expr.callee? : Expr → Option String
  | .methodCall _ method _ _ => some method
  | .call (.path segments _ _) _ =>
    segments.getLast?.filter fun name => !Text.startsUppercase name
  | _ => none

/-- The calls of a text that are recorded. -/
def recordedNodes (ps : List Part) : List Expr :=
  (partsCallNodes ps).filter fun e => e.callee?.isSome

/-! ## Steps and nodes -/

def Step.node? : Step → Option Expr
  | .call e => some e
  | _ => none

theorem filterMap_node?_unbinds (ps : List Pat) : (ps.map Step.unbind).filterMap Step.node? = [] := by
  rw [List.filterMap_map]
  exact List.filterMap_eq_nil_iff.mpr fun _ _ => rfl

mutual

theorem Expr.filterMap_steps : ∀ e : Expr, e.steps.filterMap Step.node? = e.callNodes
  | .path _ _ ps => by rw [Expr.steps, Expr.callNodes, partsSteps_filterMap ps]
  | .field base _ => by rw [Expr.steps, Expr.callNodes, base.filterMap_steps]
  | .methodCall receiver method generics args => by
    simp [Expr.steps, Expr.callNodes, Step.node?, receiver.filterMap_steps,
      partsSteps_filterMap generics, partsSteps_filterMap args]
  | .call callee args => by
    simp [Expr.steps, Expr.callNodes, Step.node?, callee.filterMap_steps, partsSteps_filterMap args]
  | .record _ ps => by rw [Expr.steps, Expr.callNodes, partsSteps_filterMap ps]
  | .reference e => by rw [Expr.steps, Expr.callNodes, e.filterMap_steps]
  | .paren e => by rw [Expr.steps, Expr.callNodes, e.filterMap_steps]
  | .group before e => by
    rw [Expr.steps, Expr.callNodes, List.filterMap_append, partsSteps_filterMap before,
      e.filterMap_steps]
  | .deref e => by rw [Expr.steps, Expr.callNodes, e.filterMap_steps]
  | .attempt e => by rw [Expr.steps, Expr.callNodes, e.filterMap_steps]
  | .cast e t => by
    rw [Expr.steps, Expr.callNodes, List.filterMap_append, e.filterMap_steps, t.filterMap_steps]
  | .closure before params output body => by
    rw [Expr.steps, Expr.callNodes, List.filterMap_append, filterMap_node?_unbinds, List.nil_append]
    simp only [List.filterMap_append, partsSteps_filterMap before, patternsSteps_filterMap params,
      partsSteps_filterMap output, body.filterMap_steps]
  | .forLoop p iterated body => by
    rw [Expr.steps, Expr.callNodes, List.filterMap_append, List.filterMap_cons_none rfl,
      iterated.filterMap_steps, partsSteps_filterMap body]
  | .block ps => by rw [Expr.steps, Expr.callNodes, partsSteps_filterMap ps]
  | .other ps => by rw [Expr.steps, Expr.callNodes, partsSteps_filterMap ps]

theorem Ty.filterMap_steps : ∀ t : Ty, t.steps.filterMap Step.node? = t.callNodes
  | .reference t => by rw [Ty.steps, Ty.callNodes, t.filterMap_steps]
  | .paren t => by rw [Ty.steps, Ty.callNodes, t.filterMap_steps]
  | .group t => by rw [Ty.steps, Ty.callNodes, t.filterMap_steps]
  | .slice t => by rw [Ty.steps, Ty.callNodes, t.filterMap_steps]
  | .array t length => by
    rw [Ty.steps, Ty.callNodes, List.filterMap_append, t.filterMap_steps, length.filterMap_steps]
  | .traits _ ps => by rw [Ty.steps, Ty.callNodes, partsSteps_filterMap ps]
  | .path before _ args => by
    rw [Ty.steps, Ty.callNodes, List.filterMap_append, partsSteps_filterMap before,
      argumentsSteps_filterMap args]
  | .other ps => by rw [Ty.steps, Ty.callNodes, partsSteps_filterMap ps]

theorem Arg.filterMap_steps : ∀ a : Arg, a.steps.filterMap Step.node? = a.callNodes
  | .type t => by rw [Arg.steps, Arg.callNodes, t.filterMap_steps]
  | .other ps => by rw [Arg.steps, Arg.callNodes, partsSteps_filterMap ps]

theorem argumentsSteps_filterMap :
    ∀ as : List Arg, (argumentsSteps as).filterMap Step.node? = argumentsCallNodes as
  | [] => by rw [argumentsSteps, argumentsCallNodes, List.filterMap_nil]
  | a :: rest => by
    rw [argumentsSteps, argumentsCallNodes, List.filterMap_append, a.filterMap_steps,
      argumentsSteps_filterMap rest]

theorem Pat.filterMap_steps : ∀ p : Pat, p.steps.filterMap Step.node? = p.callNodes
  | .ident _ ps => by rw [Pat.steps, Pat.callNodes, partsSteps_filterMap ps]
  | .typed p t => by
    rw [Pat.steps, Pat.callNodes, List.filterMap_append, p.filterMap_steps, t.filterMap_steps]
  | .reference p => by rw [Pat.steps, Pat.callNodes, p.filterMap_steps]
  | .paren p => by rw [Pat.steps, Pat.callNodes, p.filterMap_steps]
  | .other ps => by rw [Pat.steps, Pat.callNodes, partsSteps_filterMap ps]

theorem patternsSteps_filterMap :
    ∀ ps : List Pat, (patternsSteps ps).filterMap Step.node? = patternsCallNodes ps
  | [] => by rw [patternsSteps, patternsCallNodes, List.filterMap_nil]
  | p :: rest => by
    rw [patternsSteps, patternsCallNodes, List.filterMap_append, p.filterMap_steps,
      patternsSteps_filterMap rest]

theorem Part.filterMap_steps : ∀ p : Part, p.steps.filterMap Step.node? = p.callNodes
  | .expr e => by rw [Part.steps, Part.callNodes, e.filterMap_steps]
  | .type t => by rw [Part.steps, Part.callNodes, t.filterMap_steps]
  | .pattern p => by rw [Part.steps, Part.callNodes, p.filterMap_steps]
  | .bind p none diverge => by
    rw [Part.steps, Part.callNodes]
    rfl
  | .bind p (some e) none => by
    simp [Part.steps, Part.callNodes, Step.node?, e.filterMap_steps]
  | .bind p (some e) (some diverge) => by
    simp [Part.steps, Part.callNodes, Step.node?, e.filterMap_steps, diverge.filterMap_steps]

/-- **The calls among the steps are the calls of the text**, none lost, doubled or moved. -/
theorem partsSteps_filterMap :
    ∀ ps : List Part, (partsSteps ps).filterMap Step.node? = partsCallNodes ps
  | [] => by rw [partsSteps, partsCallNodes, List.filterMap_nil]
  | p :: rest => by
    rw [partsSteps, partsCallNodes, List.filterMap_append, p.filterMap_steps,
      partsSteps_filterMap rest]

end

/-! ## What a run records -/

variable {s : Surroundings}

theorem Surroundings.callee_methodCall (b : Bindings) (receiver : Expr) (method : String) :
    (s.methodCall b receiver method).callee = method := by
  unfold methodCall
  split
  · rfl
  · rfl

/-- Whether a call is recorded, and under which name, is the same under all bindings. -/
theorem Expr.map_callee_invocation? (b : Bindings) (e : Expr) :
    (e.invocation? s b).map Invocation.callee = e.callee? := by
  cases e with
  | methodCall receiver method generics args =>
    exact congrArg some (Surroundings.callee_methodCall b receiver method)
  | call callee args =>
    cases callee with
    | path segments plain ps =>
      simp only [invocation?, callee?, Surroundings.pathCall?]
      cases segments.getLast? with
      | none => rfl
      | some name => cases h : Text.startsUppercase name <;> simp [h, Option.filter]
    | _ => rfl
  | _ => rfl

theorem Expr.isSome_invocation? (b : Bindings) (e : Expr) :
    (e.invocation? s b).isSome = e.callee?.isSome := by
  rw [← e.map_callee_invocation? b (s := s), Option.isSome_map]

/-- **What a run records**, call by call. `I` is something that holds of the bindings all along, and
    `R` something that holds of a call and its record whenever `I` holds of the bindings. -/
theorem Walk.run_records {I : Bindings → Prop} {R : Expr → Invocation → Prop} (steps : List Step)
    (hI : ∀ step ∈ steps, ∀ w : Walk, I w.bindings → I (step.run s w).bindings)
    (hR : ∀ e b i, I b → e.invocation? s b = some i → R e i) (w : Walk) (hw : I w.bindings) :
    ∃ more, (Walk.run s w steps).calls = w.calls ++ more ∧
      List.Forall₂ R ((steps.filterMap Step.node?).filter fun e => e.callee?.isSome) more := by
  induction steps generalizing w with
  | nil => exact ⟨[], by simp, by simp⟩
  | cons step steps ih =>
    have hstep : I (step.run s w).bindings := hI step List.mem_cons_self w hw
    obtain ⟨more, hcalls, hmore⟩ := ih (fun st hst => hI st (List.mem_cons_of_mem _ hst)) _ hstep
    cases step with
    | call e =>
      rw [run_cons, hcalls, Step.run, List.append_assoc]
      refine ⟨_, rfl, ?_⟩
      have hsome := e.isSome_invocation? w.bindings (s := s)
      simp only [List.filterMap_cons, Step.node?, List.filter_cons, ← hsome]
      cases hi : e.invocation? s w.bindings with
      | none => exact hmore
      | some i => exact .cons (hR e w.bindings i hw hi) hmore
    | unbind p => exact ⟨more, hcalls, hmore⟩
    | bindValue p value => exact ⟨more, hcalls, hmore⟩
    | bindElement p iterated => exact ⟨more, hcalls, hmore⟩

end ClassGraph.Rust
