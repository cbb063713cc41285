import ClassGraph.Project.InputFormat
import ClassGraph.Proofs.Decoding
import ClassGraph.Proofs.Lines

/-!
# Paths of entries

The path of an entry of a folder is the path of the folder, a slash, and the name of the entry. The
folder may be written with a slash at its end, with dots, or with slashes in a row, and all of that
stays in the path; what matters is that the name is found again at its end.

Cut at its slashes, a path is a list of pieces, and an entry adds one piece to those of its folder
(`pieces_join`). So **different ways down from a folder have different paths** (`pathTo_inj`). The file
name of a path is the last piece that counts, if that is a name (`fileName?_eq_some_iff`): a path that
ends in two dots has none.

Different paths may be shown alike, but not if they are text (`shown_inj`).
-/

set_option autoImplicit false

namespace ClassGraph

/-! ## Pieces -/

namespace Text

section

variable {α : Type} [DecidableEq α] {sep : α}

theorem splitAt_ne_nil (cs : List α) : splitAt sep cs ≠ [] := by
  cases cs with
  | nil => simp [splitAt]
  | cons c cs =>
    rw [splitAt]
    split
    · simp
    · split <;> simp

theorem eq_nil_of_splitAt {cs : List α} (h : splitAt sep cs = [[]]) : cs = [] := by
  cases cs with
  | nil => rfl
  | cons c cs =>
    rw [splitAt] at h
    split at h
    · exact absurd (List.cons.inj h).2 (splitAt_ne_nil cs)
    · split at h <;> simp at h

theorem splitAt_append_sep (cs rest : List α) :
    splitAt sep (cs ++ sep :: rest) = splitAt sep cs ++ splitAt sep rest := by
  induction cs with
  | nil => simp [splitAt]
  | cons c cs ih =>
    rw [List.cons_append, splitAt, splitAt]
    by_cases hc : c = sep
    · rw [if_pos hc, if_pos hc, ih, List.cons_append]
    · rw [if_neg hc, if_neg hc, ih]
      cases hcs : splitAt sep cs with
      | nil => exact absurd hcs (splitAt_ne_nil cs)
      | cons piece pieces => rfl

theorem notMem_of_mem_splitAt {cs piece : List α} (h : piece ∈ splitAt sep cs) : sep ∉ piece := by
  induction cs generalizing piece with
  | nil =>
    cases List.mem_singleton.mp h
    exact List.not_mem_nil
  | cons c cs ih =>
    rw [splitAt] at h
    split at h
    · rcases List.mem_cons.mp h with rfl | h
      · exact List.not_mem_nil
      · exact ih h
    · next hc =>
      cases hcs : splitAt sep cs with
      | nil => exact absurd hcs (splitAt_ne_nil cs)
      | cons first pieces =>
        rw [hcs] at h ih
        rcases List.mem_cons.mp h with rfl | h
        · rw [List.mem_cons, not_or]
          exact ⟨Ne.symm hc, ih List.mem_cons_self⟩
        · exact ih (List.mem_cons_of_mem first h)

end

end Text

namespace PathName

/-- A name that an entry of a folder can have. -/
def IsName (name : FileName) : Prop :=
  name ≠ [] ∧ name ≠ [dot] ∧ name ≠ [dot, dot] ∧ slash ∉ name

instance : DecidablePred IsName := fun _ => inferInstanceAs (Decidable (_ ∧ _ ∧ _ ∧ _))

/-- The pieces of a path between its slashes. -/
def pieces (path : PathName) : List (List UInt8) := Text.splitAt slash path

/-- The pieces that the path of a folder and those of its entries begin with: all of the folder's, but
    for an empty one after a slash at the end. -/
def trunk (folder : PathName) : List (List UInt8) :=
  if folder.getLast? = some slash then (pieces folder).dropLast else pieces folder

/-- The path that some names lead to from a folder. -/
def pathTo (folder : PathName) (names : List FileName) : PathName := names.foldl join folder

section

variable {name : FileName} {path folder : PathName}

theorem pieces_of_isName (h : IsName name) : pieces name = [name] :=
  Text.splitAt_of_notMem h.2.2.2

theorem trunk_of_slash {front : List UInt8} (h : folder = front ++ [slash]) :
    trunk folder = Text.splitAt slash front := by
  have hend : folder.getLast? = some slash := by rw [h, List.getLast?_concat]
  rw [trunk, if_pos hend, pieces, h, Text.splitAt_append_sep]
  exact List.dropLast_concat

/-- A slash at the end of a path adds an empty piece. -/
theorem pieces_eq_trunk (folder : PathName) :
    pieces folder = trunk folder ∨ pieces folder = trunk folder ++ [[]] := by
  by_cases hend : folder.getLast? = some slash
  · obtain ⟨front, hfront⟩ := List.getLast?_eq_some_iff.mp hend
    refine .inr ?_
    rw [trunk_of_slash hfront, pieces, hfront, Text.splitAt_append_sep]
    rfl
  · exact .inl (if_neg hend).symm

theorem trunk_ne_nil (folder : PathName) : trunk folder ≠ [] := by
  by_cases hend : folder.getLast? = some slash
  · obtain ⟨front, hfront⟩ := List.getLast?_eq_some_iff.mp hend
    rw [trunk_of_slash hfront]
    exact Text.splitAt_ne_nil front
  · rw [trunk, if_neg hend]
    exact Text.splitAt_ne_nil folder

theorem pieces_join (folder : PathName) (h : IsName name) :
    pieces (join folder name) = trunk folder ++ [name] := by
  rw [← pieces_of_isName h]
  by_cases hend : folder.getLast? = some slash
  · obtain ⟨front, hfront⟩ := List.getLast?_eq_some_iff.mp hend
    rw [join, if_pos hend, trunk_of_slash hfront, pieces, hfront, List.append_assoc,
      List.singleton_append, Text.splitAt_append_sep]
    rfl
  · rw [join, if_neg hend, trunk, if_neg hend, pieces, Text.splitAt_append_sep]
    rfl

theorem trunk_join (folder : PathName) (h : IsName name) :
    trunk (join folder name) = trunk folder ++ [name] := by
  have hlast : (join folder name).getLast? = name.getLast? := by
    unfold join
    split
    · rw [List.getLast?_append_of_ne_nil _ h.1]
    · rw [List.append_cons, List.getLast?_append_of_ne_nil _ h.1]
  have hopen : (join folder name).getLast? ≠ some slash := by
    rw [hlast]
    exact fun hslash => h.2.2.2 (List.mem_of_getLast? hslash)
  rw [trunk, if_neg hopen, pieces_join folder h]

theorem trunk_pathTo (folder : PathName) {names : List FileName} (h : ∀ n ∈ names, IsName n) :
    trunk (pathTo folder names) = trunk folder ++ names := by
  induction names generalizing folder with
  | nil => exact (List.append_nil _).symm
  | cons n names ih =>
    have hcons : pathTo folder (n :: names) = pathTo (join folder n) names := rfl
    rw [hcons, ih (join folder n) fun m hm => h m (List.mem_cons_of_mem n hm),
      trunk_join folder (h n List.mem_cons_self), List.append_assoc]
    rfl

/-- Different ways down from a folder have different paths. -/
theorem pathTo_inj {names names' : List FileName} (h : ∀ n ∈ names, IsName n)
    (h' : ∀ n ∈ names', IsName n) (heq : pathTo folder names = pathTo folder names') :
    names = names' := by
  have htrunk := congrArg trunk heq
  rwa [trunk_pathTo folder h, trunk_pathTo folder h', List.append_cancel_left_eq] at htrunk

/-! ## File names -/

theorem component?_eq_name_iff {first : Bool} {piece : List UInt8} :
    component? first piece = some (.name name) ↔
      piece = name ∧ name ≠ [] ∧ name ≠ [dot] ∧ name ≠ [dot, dot] := by
  unfold component?
  constructor
  · intro h
    split_ifs at h with hempty hdot hfirst hdots
    · cases h
    · cases h
    · cases h
      exact ⟨rfl, hempty, hdot, hdots⟩
  · rintro ⟨rfl, hempty, hdot, hdots⟩
    rw [if_neg hempty, if_neg hdot, if_neg hdots]

theorem component?_false_eq_none_iff {piece : List UInt8} :
    component? false piece = none ↔ piece = [] ∨ piece = [dot] := by
  unfold component?
  split_ifs <;> simp [*]

theorem fileName?_eq_some_iff_getLast? :
    fileName? path = some name ↔ (components path).getLast? = some (.name name) := by
  unfold fileName?
  split
  · next n hlast => rw [hlast, Option.some.injEq, Option.some.injEq, Component.name.injEq]
  · next hlast =>
    refine ⟨fun h => ?_, fun h => absurd h (hlast name)⟩
    cases h

/-- Behind the components that are past the first slash stands the piece in front of it. -/
theorem getLast?_components {first : List UInt8} {rest : List (List UInt8)}
    (h : pieces path = first :: rest) : (components path).getLast? = some (.name name) ↔
      ((rest.filterMap (component? false)).getLast?.or (component? true first)) = some (.name name) := by
  unfold pieces at h
  unfold components
  rw [h]
  dsimp only
  split
  · next hroot =>
    rw [Bool.and_eq_true, decide_eq_true_iff] at hroot
    have hnone : component? true first = none := if_pos hroot.1
    rw [List.getLast?_cons, hnone, Option.or_none]
    cases (rest.filterMap (component? false)).getLast? <;> simp
  · rw [List.getLast?_append]
    cases component? true first <;> rfl

/-- **The file name of a path is its last piece that counts**, if that is a name. -/
theorem fileName?_eq_some_iff : fileName? path = some name ↔ IsName name ∧ ∃ before after,
    pieces path = before ++ name :: after ∧ ∀ piece ∈ after, piece = [] ∨ piece = [dot] := by
  rw [fileName?_eq_some_iff_getLast?]
  cases hpieces : pieces path with
  | nil => exact absurd hpieces (Text.splitAt_ne_nil path)
  | cons first rest =>
    rw [getLast?_components hpieces, List.getLast?_filterMap, Option.or_eq_some_iff,
      List.findSome?_eq_some_iff, List.findSome?_eq_none_iff]
    simp only [component?_eq_name_iff, component?_false_eq_none_iff]
    have hslash : ∀ piece ∈ first :: rest, slash ∉ piece := by
      intro piece hpiece
      rw [← hpieces] at hpiece
      exact Text.notMem_of_mem_splitAt hpiece
    constructor
    · rintro (⟨after, piece, before, hrest, ⟨rfl, hempty, hdot, hdots⟩, hblank⟩ |
        ⟨hblank, rfl, hempty, hdot, hdots⟩)
      · have hsplit : first :: rest = (first :: before.reverse) ++ piece :: after.reverse := by
          rw [List.reverse_eq_iff.mp hrest]
          simp
        have hmem : piece ∈ first :: rest := by simp [hsplit]
        exact ⟨⟨hempty, hdot, hdots, hslash piece hmem⟩, _, _, hsplit, fun p hp =>
          hblank p (List.mem_reverse.mp hp)⟩
      · exact ⟨⟨hempty, hdot, hdots, hslash _ List.mem_cons_self⟩, [], rest, rfl, fun p hp =>
          hblank p (List.mem_reverse.mpr hp)⟩
    · rintro ⟨⟨hempty, hdot, hdots, -⟩, before, after, hsplit, hblank⟩
      cases before with
      | nil =>
        cases hsplit
        exact .inr ⟨fun p hp => hblank p (List.mem_reverse.mp hp), rfl, hempty, hdot, hdots⟩
      | cons b before =>
        cases hsplit
        refine .inl ⟨after.reverse, name, before.reverse, by simp, ⟨rfl, hempty, hdot, hdots⟩, ?_⟩
        exact fun p hp => hblank p (List.mem_reverse.mp hp)

theorem isName_of_fileName? (h : fileName? path = some name) : IsName name :=
  (fileName?_eq_some_iff.mp h).1

theorem fileName?_name (h : IsName name) : fileName? name = some name :=
  fileName?_eq_some_iff.mpr ⟨h, [], [], pieces_of_isName h, by simp⟩

theorem fileName?_join (folder : PathName) (h : IsName name) :
    fileName? (join folder name) = some name :=
  fileName?_eq_some_iff.mpr ⟨h, trunk folder, [], pieces_join folder h, by simp⟩

end

/-! ## Paths that are text -/

/-- Some bytes are those of a text. -/
def IsText (bytes : List UInt8) : Prop := ∃ s, bytes = Text.Utf8.encode s

section

variable {path path' folder : PathName} {name : FileName}

theorem isText_ofText (s : String) : IsText (ofText s) := ⟨s, rfl⟩

theorem IsText.append {a b : List UInt8} (ha : IsText a) (hb : IsText b) : IsText (a ++ b) := by
  obtain ⟨s, rfl⟩ := ha
  obtain ⟨t, rfl⟩ := hb
  refine ⟨s ++ t, ?_⟩
  unfold Text.Utf8.encode
  rw [String.toList_append, List.flatMap_append]

theorem IsText.join (hfolder : IsText folder) (hname : IsText name) : IsText (join folder name) := by
  unfold PathName.join
  split
  · exact hfolder.append hname
  · rw [List.append_cons]
    exact (hfolder.append ⟨"/", rfl⟩).append hname

theorem IsText.pathTo (hfolder : IsText folder) {names : List FileName}
    (hnames : ∀ n ∈ names, IsText n) : IsText (pathTo folder names) := by
  induction names generalizing folder with
  | nil => exact hfolder
  | cons n names ih =>
    exact ih (hfolder.join (hnames n List.mem_cons_self)) fun m hm =>
      hnames m (List.mem_cons_of_mem n hm)

/-- Paths that are text are shown as they are. -/
theorem shown_inj (h : IsText path) (h' : IsText path') (heq : shown path = shown path') :
    path = path' := by
  obtain ⟨s, rfl⟩ := h
  obtain ⟨s', rfl⟩ := h'
  unfold shown at heq
  rw [Text.Utf8.decodeLossy_encode, Text.Utf8.decodeLossy_encode] at heq
  rw [heq]

theorem shown_ne_empty (h : path ≠ []) : shown path ≠ "" := by
  cases path with
  | nil => exact absurd rfl h
  | cons b bytes =>
    intro hempty
    have hchars := congrArg String.toList hempty
    rw [shown, Text.Utf8.decodeLossy, String.toList_ofList, Text.Utf8.chars_cons] at hchars
    cases hchars

end

end PathName

/-- An entry has the format that its name tells. -/
theorem InputFormat.ofPath?_of_fileName? {path : PathName} {name : FileName}
    (h : PathName.fileName? path = some name) : ofPath? path = ofPath? name := by
  unfold ofPath? PathName.extension?
  rw [h, PathName.fileName?_name (PathName.isName_of_fileName? h)]

end ClassGraph
