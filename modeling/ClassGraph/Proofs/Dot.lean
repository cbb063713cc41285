import ClassGraph.Proofs.Figure
import ClassGraph.Proofs.Lines
import ClassGraph.Render.Dot

/-!
# The DOT text shows the figure, and shows it in one way

The text and the figure come from two walks. One puts nodes and edges down in turn, the other goes
through the graph once for the nodes and once more for the edges. They agree, in order and with all
repetitions (`render_eq_of_figure`), so the text is a text of the figure.

**It is the text of one figure only** (`render_determines_figure`), whatever characters the names are
made of. Three facts carry this. No name brings a newline into the text, so the lines are found again;
a blank line stands between nodes and edges and nowhere inside them; and no name brings a quote that
ends it too early, so the names are found again in a line. The last one is said with a reader that
knows nothing of escapes but that a backslash takes the next character with it (`closing?`).

Escaping is three replacements over the whole name, and each could spoil what an earlier one wrote.
The order is right: together they replace every character on its own (`toList_escape`).
-/

set_option autoImplicit false

namespace ClassGraph

namespace Dot

/-! ## Both walks draw the same -/

theorem nodeLines_eq (g : CallGraph) :
    nodeLines g = (Figure.ofGraph g).nodes.map fun n => nodeLine n.id n.label n.kind := by
  rw [Figure.nodes_ofGraph, List.map_append, List.map_flatMap, List.map_map]
  have hclass : ∀ e : String × Methods,
      (classNodes e).map (fun n => nodeLine n.id n.label n.kind)
        = nodeLine e.1 e.1 .ofClass
          :: e.2.keys.map fun m => nodeLine (e.1 ++ "." ++ m) m .ofMethod := by
    intro e
    simp [classNodes, methodNode, methodId, Table.keys]
  simp only [hclass]
  rfl

theorem edgeLines_eq (g : CallGraph) :
    edgeLines g = (Figure.ofGraph g).edges.map fun e => edgeLine e.source e.target := by
  rw [Figure.edges_ofGraph, List.map_flatMap]
  have hmethod : ∀ (name : String) (m : String × List Call),
      (methodEdges name m).map (fun e => edgeLine e.source e.target)
        = edgeLine name (name ++ "." ++ m.1)
          :: m.2.map fun call => edgeLine (name ++ "." ++ m.1) call.target := by
    intro name m
    simp [methodEdges, callEdge, methodId]
  simp only [classEdges, List.map_flatMap, hmethod]
  rfl

end Dot

/-- **The text and the figure show the same graph**: behind the fixed header there is a line for every
    node of the figure, then one for every edge, each in the order of the figure. A line is all there is
    to its node or edge: it determines the id, the label and the kind (`Dot.nodeLine_injective`), or the
    two ends (`Dot.edgeLine_injective`). -/
theorem render_eq_of_figure (g : CallGraph) :
    Dot.render g = Text.joinWith "\n"
      (Dot.header
        ++ ((Figure.ofGraph g).nodes.map fun n => Dot.nodeLine n.id n.label n.kind) ++ [""]
        ++ ((Figure.ofGraph g).edges.map fun e => Dot.edgeLine e.source e.target) ++ [""]
        ++ Dot.legend) := by
  rw [Dot.render, Dot.nodeLines_eq, Dot.edgeLines_eq]

/-! ## Escaping -/

namespace Dot

/-- One character of a name as it stands inside quotes. -/
def escapeChar (c : Char) : List Char :=
  if c = '\\' then ['\\', '\\']
  else if c = '"' then ['\\', '"']
  else if c = '\n' then ['\\', 'n']
  else [c]

/-- A name inside quotes, read back. Behind a backslash an `n` stands for a newline and any other
    character for itself. -/
def unescapeChars : List Char → List Char
  | [] => []
  | '\\' :: 'n' :: rest => '\n' :: unescapeChars rest
  | '\\' :: c :: rest => c :: unescapeChars rest
  | c :: rest => c :: unescapeChars rest

/-- The name that is written as `s` inside quotes. -/
def unescape (s : String) : String := String.ofList (unescapeChars s.toList)

/-- The text up to the closing quote, and the text behind it, for a reader in which a backslash takes
    the next character with it. -/
def closing? : List Char → Option (List Char × List Char)
  | [] => none
  | '"' :: rest => some ([], rest)
  | '\\' :: c :: rest => (closing? rest).map fun r => ('\\' :: c :: r.1, r.2)
  | c :: rest => (closing? rest).map fun r => (c :: r.1, r.2)

theorem escapeChar_cases (c : Char) :
    (c = '\\' ∧ escapeChar c = ['\\', '\\']) ∨ (c = '"' ∧ escapeChar c = ['\\', '"']) ∨
      (c = '\n' ∧ escapeChar c = ['\\', 'n']) ∨
      (c ≠ '\\' ∧ c ≠ '"' ∧ c ≠ '\n' ∧ escapeChar c = [c]) := by
  by_cases hslash : c = '\\'
  · exact Or.inl ⟨hslash, by simp [escapeChar, hslash]⟩
  by_cases hquote : c = '"'
  · exact Or.inr (Or.inl ⟨hquote, by simp [escapeChar, hquote]⟩)
  by_cases hnewline : c = '\n'
  · exact Or.inr (Or.inr (Or.inl ⟨hnewline, by simp [escapeChar, hnewline]⟩))
  · refine Or.inr (Or.inr (Or.inr ⟨hslash, hquote, hnewline, ?_⟩))
    simp [escapeChar, hslash, hquote, hnewline]

/-- **The three replacements do not get in each other's way.** -/
theorem toList_escape (s : String) : (escape s).toList = s.toList.flatMap escapeChar := by
  simp only [escape, Text.replaceWith, String.toList_ofList, List.flatMap_assoc]
  refine List.flatMap_congr fun c _ => ?_
  rcases escapeChar_cases c with ⟨rfl, h⟩ | ⟨rfl, h⟩ | ⟨rfl, h⟩ | ⟨hslash, hquote, hnewline, h⟩
  · rw [h]
    decide
  · rw [h]
    decide
  · rw [h]
    decide
  · rw [h]
    simp [hslash, hquote, hnewline]

theorem unescapeChars_escapeChar (c : Char) (rest : List Char) :
    unescapeChars (escapeChar c ++ rest) = c :: unescapeChars rest := by
  rcases escapeChar_cases c with ⟨rfl, h⟩ | ⟨rfl, h⟩ | ⟨rfl, h⟩ | ⟨hslash, -, -, h⟩
  · simp [h, unescapeChars]
  · simp [h, unescapeChars]
  · simp [h, unescapeChars]
  · simp [h, unescapeChars, hslash]

theorem closing?_escapeChar (c : Char) (rest : List Char) :
    closing? (escapeChar c ++ rest) = (closing? rest).map fun r => (escapeChar c ++ r.1, r.2) := by
  rcases escapeChar_cases c with ⟨rfl, h⟩ | ⟨rfl, h⟩ | ⟨rfl, h⟩ | ⟨hslash, hquote, -, h⟩
  · simp [h, closing?]
  · simp [h, closing?]
  · simp [h, closing?]
  · simp [h, closing?, hslash]

theorem unescape_escape (s : String) : unescape (escape s) = s := by
  have hchars : ∀ cs : List Char, unescapeChars (cs.flatMap escapeChar) = cs := by
    intro cs
    induction cs with
    | nil => rfl
    | cons c cs ih => rw [List.flatMap_cons, unescapeChars_escapeChar, ih]
  rw [unescape, toList_escape, hchars, String.ofList_toList]

-- A backslash before an `n` and a newline are written differently.
example : escape "\\n" = "\\\\n" ∧ escape "\n" = "\\n" := by
  decide +kernel

theorem newline_notMem_escape (s : String) : '\n' ∉ (escape s).toList := by
  rw [toList_escape]
  intro hmem
  obtain ⟨c, -, hc⟩ := List.mem_flatMap.mp hmem
  rcases escapeChar_cases c with ⟨-, h⟩ | ⟨-, h⟩ | ⟨-, h⟩ | ⟨-, -, hnewline, h⟩
  · simp [h] at hc
  · simp [h] at hc
  · simp [h] at hc
  · rw [h, List.mem_singleton] at hc
    exact hnewline hc.symm

/-- The first quote that is not taken by a backslash is the one behind the name. -/
theorem closing?_escape (s : String) (rest : List Char) :
    closing? ((escape s).toList ++ '"' :: rest) = some ((escape s).toList, rest) := by
  rw [toList_escape]
  induction s.toList with
  | nil => rfl
  | cons c cs ih =>
    rw [List.flatMap_cons, List.append_assoc, closing?_escapeChar, ih]
    rfl

/-- A quoted name is told apart from what follows it. -/
theorem quoted_inj {s t : String} {rest rest' : List Char}
    (h : (escape s).toList ++ '"' :: rest = (escape t).toList ++ '"' :: rest') :
    s = t ∧ rest = rest' := by
  have hread := congrArg closing? h
  rw [closing?_escape, closing?_escape] at hread
  obtain ⟨hchars, hrest⟩ := Prod.mk.inj (Option.some.inj hread)
  refine ⟨?_, hrest⟩
  rw [← unescape_escape s, String.toList_inj.mp hchars, unescape_escape]

/-! ## Lines -/

/-- What follows the label in the line of a node. -/
def style (kind : NodeKind) : String :=
  ", shape=" ++ shape kind ++ ", style=filled, fillcolor=" ++ colour kind ++ "];"

theorem toList_nodeLine (id label : String) (kind : NodeKind) :
    (nodeLine id label kind).toList = "    \"".toList ++ ((escape id).toList
      ++ '"' :: (" [label=\"".toList ++ ((escape label).toList ++ '"' :: (style kind).toList))) := by
  delta nodeLine style
  simp only [String.toList_append, List.append_assoc]
  rfl

theorem toList_edgeLine (source target : String) :
    (edgeLine source target).toList = "    \"".toList ++ ((escape source).toList
      ++ '"' :: (" -> \"".toList ++ ((escape target).toList ++ '"' :: [';']))) := by
  delta edgeLine
  simp only [String.toList_append, List.append_assoc]
  rfl

theorem style_inj {kind kind' : NodeKind} (h : style kind = style kind') : kind = kind' := by
  revert h
  cases kind <;> cases kind' <;> decide

theorem nodeLine_injective :
    Function.Injective fun n : String × String × NodeKind => nodeLine n.1 n.2.1 n.2.2 := by
  intro n n' h
  have hchars := congrArg String.toList h
  simp only [toList_nodeLine] at hchars
  obtain ⟨hid, hrest⟩ := quoted_inj (List.append_cancel_left hchars)
  obtain ⟨hlabel, hstyle⟩ := quoted_inj (List.append_cancel_left hrest)
  exact Prod.ext hid (Prod.ext hlabel (style_inj (String.toList_inj.mp hstyle)))

theorem edgeLine_injective : Function.Injective fun e : String × String => edgeLine e.1 e.2 := by
  intro e e' h
  have hchars := congrArg String.toList h
  simp only [toList_edgeLine] at hchars
  obtain ⟨hsource, hrest⟩ := quoted_inj (List.append_cancel_left hchars)
  obtain ⟨htarget, -⟩ := quoted_inj (List.append_cancel_left hrest)
  exact Prod.ext hsource htarget

theorem newline_notMem_nodeLine (id label : String) (kind : NodeKind) :
    '\n' ∉ (nodeLine id label kind).toList := by
  have hstyle : '\n' ∉ (style kind).toList := by cases kind <;> decide
  rw [toList_nodeLine]
  simp [newline_notMem_escape, hstyle]

theorem newline_notMem_edgeLine (source target : String) :
    '\n' ∉ (edgeLine source target).toList := by
  rw [toList_edgeLine]
  simp [newline_notMem_escape]

/-! ## The text -/

/-- The lines between the header and the legend. -/
def body (g : CallGraph) : List String := nodeLines g ++ "" :: edgeLines g

theorem body_ne_nil (g : CallGraph) : body g ≠ [] := by simp [body]

theorem newline_notMem_body (g : CallGraph) : ∀ l ∈ body g, '\n' ∉ l.toList := by
  intro l hl
  simp only [body, nodeLines_eq, edgeLines_eq, List.mem_append, List.mem_cons, List.mem_map] at hl
  rcases hl with ⟨n, -, rfl⟩ | rfl | ⟨e, -, rfl⟩
  · exact newline_notMem_nodeLine n.id n.label n.kind
  · simp
  · exact newline_notMem_edgeLine e.source e.target

/-- What stands before the body and what stands after it is the same in all texts. -/
theorem render_eq_body (g : CallGraph) :
    render g = Text.joinWith "\n" header ++ "\n" ++ (Text.joinWith "\n" (body g) ++ "\n"
      ++ Text.joinWith "\n" ("" :: legend)) := by
  have hlines : header ++ nodeLines g ++ [""] ++ edgeLines g ++ [""] ++ legend
      = header ++ (body g ++ "" :: legend) := by
    simp [body]
  rw [render, hlines, Text.joinWith_append (by simp [header]) (by simp [body]),
    Text.joinWith_append (body_ne_nil g) (by simp)]

theorem body_eq_of_render {g h : CallGraph} (heq : render g = render h) : body g = body h := by
  have hchars := congrArg String.toList heq
  simp only [render_eq_body, String.toList_append, List.append_assoc] at hchars
  have hbody := List.append_cancel_left (List.append_cancel_left hchars)
  have hjoin := String.toList_inj.mp (List.append_cancel_right hbody)
  exact Text.joinWith_inj (body_ne_nil g) (body_ne_nil h) (newline_notMem_body g)
    (newline_notMem_body h) hjoin

theorem blank_notMem_nodeLines (g : CallGraph) : "" ∉ nodeLines g := by
  rw [nodeLines_eq]
  intro hmem
  obtain ⟨n, -, hblank⟩ := List.mem_map.mp hmem
  have hchars := congrArg String.toList hblank
  rw [toList_nodeLine] at hchars
  cases hchars

theorem blank_notMem_edgeLines (g : CallGraph) : "" ∉ edgeLines g := by
  rw [edgeLines_eq]
  intro hmem
  obtain ⟨e, -, hblank⟩ := List.mem_map.mp hmem
  have hchars := congrArg String.toList hblank
  rw [toList_edgeLine] at hchars
  cases hchars

/-- The blank line between nodes and edges is the only one there. -/
theorem parts_eq_of_body {g h : CallGraph} (heq : body g = body h) :
    nodeLines g = nodeLines h ∧ edgeLines g = edgeLines h := by
  rw [body, body, List.append_cons_inj_of_notMem (blank_notMem_nodeLines g)
    (blank_notMem_edgeLines g)] at heq
  exact ⟨heq.1, heq.2.2⟩

theorem nodes_eq_of_nodeLines {g h : CallGraph} (heq : nodeLines g = nodeLines h) :
    (Figure.ofGraph g).nodes.map (fun n => (n.id, n.label, n.kind))
      = (Figure.ofGraph h).nodes.map fun n => (n.id, n.label, n.kind) := by
  rw [nodeLines_eq, nodeLines_eq] at heq
  apply List.map_injective_iff.mpr nodeLine_injective
  simpa only [List.map_map, Function.comp_def] using heq

theorem edges_eq_of_edgeLines {g h : CallGraph} (heq : edgeLines g = edgeLines h) :
    (Figure.ofGraph g).edges.map (fun e => (e.source, e.target))
      = (Figure.ofGraph h).edges.map fun e => (e.source, e.target) := by
  rw [edgeLines_eq, edgeLines_eq] at heq
  apply List.map_injective_iff.mpr edgeLine_injective
  simpa only [List.map_map, Function.comp_def] using heq

end Dot

/-- **No name can break the text.** Two graphs with the same text have the same nodes and the same
    edges, in the same order. The first three parts are what this rests on: an escaped name can be
    read back, it has no newline, and a reader in which a backslash takes the next character with it
    finds the closing quote behind it and not before. -/
theorem render_determines_figure :
    (∀ s, Dot.unescape (Dot.escape s) = s) ∧
    (∀ s, '\n' ∉ (Dot.escape s).toList) ∧
    (∀ s rest, Dot.closing? ((Dot.escape s).toList ++ '"' :: rest)
      = some ((Dot.escape s).toList, rest)) ∧
    (∀ g h, Dot.render g = Dot.render h →
      (Figure.ofGraph g).nodes.map (fun n => (n.id, n.label, n.kind))
          = (Figure.ofGraph h).nodes.map (fun n => (n.id, n.label, n.kind)) ∧
        (Figure.ofGraph g).edges.map (fun e => (e.source, e.target))
          = (Figure.ofGraph h).edges.map fun e => (e.source, e.target)) := by
  refine ⟨Dot.unescape_escape, Dot.newline_notMem_escape, Dot.closing?_escape, ?_⟩
  intro g h heq
  obtain ⟨hnodes, hedges⟩ := Dot.parts_eq_of_body (Dot.body_eq_of_render heq)
  exact ⟨Dot.nodes_eq_of_nodeLines hnodes, Dot.edges_eq_of_edgeLines hedges⟩

end ClassGraph
