import ClassGraph.Files.System
import ClassGraph.Proofs.Paths

/-!
# Trees of files, whatever the order of their listings

A folder lists its entries in some order, and nothing that is found by name depends on it as long as
no name is there twice. `WellFormed` is what every real tree of files is: in every folder the names
are different, and each can be a name. `Reordered` relates two trees that differ only in the order of
their listings, at any depth.

**What is at a path is, in the reordered tree, at the same path and only reordered**
(`FileSystem.find_of_reordered`). And a path that is made of a folder's path and names leads to what
the names lead to from that folder (`FileSystem.find_pathTo`).

What a path leads to has a name of its own, which the path need not tell: one that ends in two dots does
not. If it tells a name, it is the right one (`FileSystem.ownName?_of_fileName?`).
-/

set_option autoImplicit false

namespace ClassGraph

namespace FileTree

/-- In every folder the names are different, and each can be the name of an entry. -/
inductive WellFormed : FileTree → Prop where
  | file (bytes : List UInt8) : WellFormed (.file bytes)
  | folder {es : List (FileName × FileTree)} (hnodup : (es.map Prod.fst).Nodup)
      (hnames : ∀ e ∈ es, PathName.IsName e.1) (hentries : ∀ e ∈ es, WellFormed e.2) :
      WellFormed (.folder es)

/-- The same tree with the listings of its folders in another order: a folder lists the same names,
    and what stands under a name is the same up to the order of listings. -/
inductive Reordered : FileTree → FileTree → Prop where
  | file (bytes : List UInt8) : Reordered (.file bytes) (.file bytes)
  | folder {es es' : List (FileName × FileTree)} (hnames : (es.map Prod.fst).Perm (es'.map Prod.fst))
      (hentries : ∀ name t t', (name, t) ∈ es → (name, t') ∈ es' → Reordered t t') :
      Reordered (.folder es) (.folder es')

/-! ## Entries by name -/

theorem mem_of_child? {name : FileName} {t : FileTree} {es : List (FileName × FileTree)}
    (h : child? name es = some t) : (name, t) ∈ es := by
  induction es with
  | nil => cases h
  | cons e es ih =>
    obtain ⟨n, u⟩ := e
    rw [child?] at h
    split at h
    · next hn =>
      cases h
      exact hn ▸ List.mem_cons_self
    · exact List.mem_cons_of_mem _ (ih h)

theorem child?_eq_some_iff {es : List (FileName × FileTree)} (hnodup : (es.map Prod.fst).Nodup)
    {name : FileName} {t : FileTree} : child? name es = some t ↔ (name, t) ∈ es := by
  refine ⟨mem_of_child?, fun h => ?_⟩
  induction es with
  | nil => cases h
  | cons e es ih =>
    obtain ⟨n, u⟩ := e
    obtain ⟨hn, hnodup⟩ := List.nodup_cons.mp hnodup
    rw [child?]
    rcases List.mem_cons.mp h with heq | hmem
    · cases heq
      rw [if_pos rfl]
    · have hne : n ≠ name := by
        rintro rfl
        exact hn (List.mem_map.mpr ⟨_, hmem, rfl⟩)
      rw [if_neg hne, ih hnodup hmem]

theorem isSome_child?_iff {name : FileName} {es : List (FileName × FileTree)} :
    (child? name es).isSome ↔ name ∈ es.map Prod.fst := by
  induction es with
  | nil => simp [child?]
  | cons e es ih =>
    obtain ⟨n, u⟩ := e
    rw [child?, List.map_cons, List.mem_cons]
    split
    · next hn => simp [hn]
    · next hn => rw [ih, or_iff_right (Ne.symm hn)]

theorem find?_folder_cons (es : List (FileName × FileTree)) (name : FileName) (names : List FileName) :
    (folder es).find? (name :: names) = (child? name es).bind fun t => t.find? names := by
  rw [find?]
  cases child? name es with
  | none => rfl
  | some t => rfl

theorem find?_append (t : FileTree) (names more : List FileName) :
    t.find? (names ++ more) = (t.find? names).bind fun u => u.find? more := by
  induction names generalizing t with
  | nil => rfl
  | cons name names ih =>
    cases t with
    | file bytes => rfl
    | folder es =>
      rw [List.cons_append, find?_folder_cons, find?_folder_cons]
      cases child? name es with
      | none => rfl
      | some u => exact ih u

theorem wellFormed_folder_iff {es : List (FileName × FileTree)} :
    (folder es).WellFormed ↔ (es.map Prod.fst).Nodup ∧ (∀ e ∈ es, PathName.IsName e.1) ∧
      ∀ e ∈ es, e.2.WellFormed := by
  constructor
  · rintro (_ | ⟨hnodup, hnames, hentries⟩)
    exact ⟨hnodup, hnames, hentries⟩
  · rintro ⟨hnodup, hnames, hentries⟩
    exact .folder hnodup hnames hentries

namespace WellFormed

variable {t u : FileTree} {names : List FileName}

theorem find? (h : t.WellFormed) (hu : t.find? names = some u) : u.WellFormed := by
  induction names generalizing t with
  | nil =>
    cases hu
    exact h
  | cons name names ih =>
    cases h with
    | file bytes => cases hu
    | folder hnodup hnames hentries =>
      rw [find?_folder_cons] at hu
      obtain ⟨v, hv, hu⟩ := Option.bind_eq_some_iff.mp hu
      exact ih (hentries _ (mem_of_child? hv)) hu

theorem isName_of_find? (h : t.WellFormed) (hu : t.find? names = some u) :
    ∀ name ∈ names, PathName.IsName name := by
  induction names generalizing t with
  | nil => simp
  | cons name names ih =>
    cases h with
    | file bytes => cases hu
    | folder hnodup hnames hentries =>
      rw [find?_folder_cons] at hu
      obtain ⟨v, hv, hu⟩ := Option.bind_eq_some_iff.mp hu
      have hmem := mem_of_child? hv
      exact List.forall_mem_cons.mpr ⟨hnames _ hmem, ih (hentries _ hmem) hu⟩

theorem eq_of_mem {es : List (FileName × FileTree)} (h : FileTree.WellFormed (.folder es))
    {name : FileName} (ht : (name, t) ∈ es) (hu : (name, u) ∈ es) : t = u := by
  cases h with
  | folder hnodup hnames hentries =>
    have hfirst := (child?_eq_some_iff hnodup).mpr ht
    rw [(child?_eq_some_iff hnodup).mpr hu] at hfirst
    exact (Option.some.inj hfirst).symm

theorem reordered_refl (h : t.WellFormed) : t.Reordered t := by
  induction h with
  | file bytes => exact .file bytes
  | folder hnodup hnames hentries ih =>
    refine .folder (List.Perm.refl _) fun name t t' ht ht' => ?_
    cases eq_of_mem (.folder hnodup hnames hentries) ht ht'
    exact ih _ ht

end WellFormed

namespace Reordered

variable {t t' : FileTree}

theorem symm (h : t.Reordered t') : t'.Reordered t := by
  induction h with
  | file bytes => exact .file bytes
  | folder hnames hentries ih =>
    exact .folder hnames.symm fun name t' t ht' ht => ih name t t' ht ht'

theorem wellFormed (h : t.Reordered t') (ht : t.WellFormed) : t'.WellFormed := by
  induction h with
  | file bytes => exact .file bytes
  | @folder es es' hnames hentries ih =>
    cases ht with
    | folder hnodup hisName hwell =>
      -- Every entry of the new listing has its counterpart in the old one.
      have hold : ∀ e ∈ es', ∃ t, (e.1, t) ∈ es := by
        intro e he
        obtain ⟨⟨name, t⟩, hmem, hname⟩ :=
          List.mem_map.mp (hnames.mem_iff.mpr (List.mem_map.mpr ⟨e, he, rfl⟩))
        exact ⟨t, hname ▸ hmem⟩
      refine .folder (hnames.nodup_iff.mp hnodup) (fun e he => ?_) (fun e he => ?_)
      · obtain ⟨t, ht⟩ := hold e he
        exact hisName (e.1, t) ht
      · obtain ⟨t, ht⟩ := hold e he
        exact ih e.1 t e.2 ht he (hwell _ ht)

theorem find? (h : t.Reordered t') (ht : t.WellFormed) {names : List FileName} {u : FileTree}
    (hu : t.find? names = some u) : ∃ u', t'.find? names = some u' ∧ u.Reordered u' := by
  induction names generalizing t t' with
  | nil =>
    cases hu
    exact ⟨t', rfl, h⟩
  | cons name names ih =>
    cases h with
    | file bytes => cases hu
    | @folder es es' hnames hentries =>
      cases ht with
      | folder hnodup hisName hwell =>
        rw [find?_folder_cons] at hu
        obtain ⟨v, hv, hu⟩ := Option.bind_eq_some_iff.mp hu
        have hmem := mem_of_child? hv
        have hthere : (child? name es').isSome :=
          isSome_child?_iff.mpr (hnames.mem_iff.mp (List.mem_map.mpr ⟨_, hmem, rfl⟩))
        obtain ⟨v', hv'⟩ := Option.isSome_iff_exists.mp hthere
        obtain ⟨u', hu', hre⟩ :=
          ih (hentries name v v' hmem (mem_of_child? hv')) (hwell _ hmem) hu
        exact ⟨u', by rw [find?_folder_cons, hv', Option.bind_some, hu'], hre⟩

/-- Names lead to the same kind of thing in both trees. -/
theorem find?_cases (h : t.Reordered t') (ht : t.WellFormed) (names : List FileName) :
    (t.find? names = none ∧ t'.find? names = none) ∨
    (∃ bytes, t.find? names = some (.file bytes) ∧ t'.find? names = some (.file bytes)) ∨
    ∃ es es', t.find? names = some (.folder es) ∧ t'.find? names = some (.folder es') ∧
      Reordered (.folder es) (.folder es') := by
  cases hu : t.find? names with
  | none =>
    refine .inl ⟨rfl, Option.eq_none_iff_forall_not_mem.mpr fun u' hu' => ?_⟩
    obtain ⟨u, hback, -⟩ := h.symm.find? (h.wellFormed ht) hu'
    rw [hu] at hback
    cases hback
  | some u =>
    obtain ⟨u', hu', hre⟩ := h.find? ht hu
    cases hre with
    | file bytes => exact .inr (.inl ⟨bytes, rfl, hu'⟩)
    | folder hnames hentries => exact .inr (.inr ⟨_, _, rfl, hu', .folder hnames hentries⟩)

/-- A file is found in both trees or in none, with the same bytes. -/
theorem find?_file_iff (h : t.Reordered t') (ht : t.WellFormed) {names : List FileName}
    {bytes : List UInt8} :
    t.find? names = some (.file bytes) ↔ t'.find? names = some (.file bytes) := by
  rcases h.find?_cases ht names with ⟨hu, hu'⟩ | ⟨_, hu, hu'⟩ | ⟨_, _, hu, hu', -⟩ <;>
    simp [hu, hu']

end Reordered

/-! ## Listing a file first -/

/-- The same tree with what some names lead to listed first, in every folder on the way. -/
def bringFront : List FileName → FileTree → FileTree
  | [], t => t
  | _ :: _, .file bytes => .file bytes
  | name :: names, .folder es =>
    match child? name es with
    | some t => .folder ((name, bringFront names t) :: es.filter fun e => e.1 != name)
    | none => .folder es

theorem bringFront_folder {es : List (FileName × FileTree)} {name : FileName} {t : FileTree}
    (h : child? name es = some t) (names : List FileName) : bringFront (name :: names) (.folder es)
      = .folder ((name, bringFront names t) :: es.filter fun e => e.1 != name) := by
  rw [bringFront, h]

/-- What is brought to the front is still found where it was. -/
theorem find?_bringFront {t u : FileTree} {names : List FileName} (more : List FileName)
    (hu : t.find? names = some u) : (bringFront (names ++ more) t).find? names
      = some (bringFront more u) := by
  induction names generalizing t with
  | nil =>
    cases hu
    rfl
  | cons name names ih =>
    cases t with
    | file bytes => cases hu
    | folder es =>
      rw [find?_folder_cons] at hu
      obtain ⟨v, hv, hu⟩ := Option.bind_eq_some_iff.mp hu
      rw [List.cons_append, bringFront_folder hv, find?_folder_cons, child?, if_pos rfl,
        Option.bind_some, ih hu]

/-- Bringing something to the front changes the order of listings and nothing else. -/
theorem WellFormed.reordered_bringFront {t : FileTree} (h : t.WellFormed) (names : List FileName) :
    t.Reordered (bringFront names t) := by
  induction names generalizing t with
  | nil => exact h.reordered_refl
  | cons name names ih =>
    cases t with
    | file bytes => exact .file bytes
    | folder es =>
      cases hchild : child? name es with
      | none =>
        rw [bringFront, hchild]
        exact h.reordered_refl
      | some u =>
        rw [bringFront_folder hchild]
        have hmem := mem_of_child? hchild
        obtain ⟨hnodup, -, hentries⟩ := wellFormed_folder_iff.mp h
        have hothers : (es.filter fun e => e.1 != name).map Prod.fst
            = (es.map Prod.fst).filter fun n => n != name := by
          rw [List.filter_map]
          rfl
        refine .folder ?_ fun n t t' ht ht' => ?_
        · rw [List.map_cons, hothers, ← hnodup.erase_eq_filter]
          exact List.perm_cons_erase (List.mem_map.mpr ⟨_, hmem, rfl⟩)
        · rcases List.mem_cons.mp ht' with heq | ht'
          · cases heq
            cases h.eq_of_mem ht hmem
            exact ih (hentries _ hmem)
          · cases h.eq_of_mem ht (List.mem_filter.mp ht').1
            exact (hentries _ ht).reordered_refl

end FileTree

namespace FileSystem

/-! ## Following paths in another order of listings -/

section

variable {root root' : FileTree}

/-- Following pieces asks a folder for names only, one piece at a time. -/
theorem follow_of_reordered (h : root.Reordered root') (hroot : root.WellFormed)
    (place : List FileName) (ps : List (List UInt8)) : follow root' place ps = follow root place ps := by
  induction ps generalizing place with
  | nil => rfl
  | cons piece ps ih =>
    rw [follow, follow]
    rcases h.find?_cases hroot place.reverse with
      ⟨hu, hu'⟩ | ⟨_, hu, hu'⟩ | ⟨es, es', hu, hu', hre⟩
    · rw [hu, hu']
    · rw [hu, hu']
    · rw [hu, hu']
      cases hre with
      | folder hnames hentries =>
        have hchild : ∀ name, (FileTree.child? name es').isSome = (FileTree.child? name es).isSome := by
          intro name
          rw [Bool.eq_iff_iff, FileTree.isSome_child?_iff, FileTree.isSome_child?_iff, hnames.mem_iff]
        simp only [ih, hchild]

end

variable {fs : FileSystem} {path : PathName}

theorem find_eq_ok_iff {u : FileTree} :
    fs.find path = .ok u ↔ ∃ names, fs.locate path = .ok names ∧ fs.root.find? names = some u := by
  unfold find
  cases fs.locate path with
  | error fault => simp [bind, Except.bind]
  | ok names =>
    simp only [bind, Except.bind, Except.ok.injEq, exists_eq_left']
    cases fs.root.find? names with
    | none => simp [throw, throwThe, MonadExceptOf.throw]
    | some v => simp [pure, Except.pure]

theorem wellFormed_of_find {u : FileTree} (hroot : fs.root.WellFormed) (hu : fs.find path = .ok u) :
    u.WellFormed := by
  obtain ⟨names, -, hu⟩ := find_eq_ok_iff.mp hu
  exact hroot.find? hu

theorem read_of_find {bytes : List UInt8} (h : fs.find path = .ok (.file bytes)) :
    fs.read path = .ok bytes := by
  rw [read, h]
  rfl

theorem locate_of_reordered {root' : FileTree} (h : fs.root.Reordered root')
    (hroot : fs.root.WellFormed) (path : PathName) :
    FileSystem.locate { fs with root := root' } path = fs.locate path := by
  have hstart : ∀ ps, FileSystem.start { fs with root := root' } ps = fs.start ps := fun _ => rfl
  simp only [locate, hstart, follow_of_reordered h hroot]

theorem find_of_reordered {root' u : FileTree} (h : fs.root.Reordered root')
    (hroot : fs.root.WellFormed) (hu : fs.find path = .ok u) :
    ∃ u', FileSystem.find { fs with root := root' } path = .ok u' ∧ u.Reordered u' := by
  obtain ⟨names, hnames, hu⟩ := find_eq_ok_iff.mp hu
  obtain ⟨u', hu', hre⟩ := h.find? hroot hu
  exact ⟨u', find_eq_ok_iff.mpr ⟨names, (locate_of_reordered h hroot path).trans hnames, hu'⟩, hre⟩

/-! ## Paths of entries lead to the entries -/

/-- Pieces are followed one after the other. -/
theorem follow_append (root : FileTree) (place : List FileName) (ps qs : List (List UInt8)) :
    follow root place (ps ++ qs) = (follow root place ps).bind fun p => follow root p qs := by
  induction ps generalizing place with
  | nil => rfl
  | cons piece ps ih =>
    rw [List.cons_append, follow, follow]
    cases root.find? place.reverse with
    | none => rfl
    | some t =>
      cases t with
      | file bytes => rfl
      | folder es =>
        dsimp only
        split
        · exact ih place
        · split
          · exact ih (place.drop 1)
          · split
            · exact ih _
            · rfl

theorem follow_name {root t : FileTree} {place : List FileName} {es : List (FileName × FileTree)}
    {name : FileName} (hplace : root.find? place.reverse = some (.folder es))
    (hchild : FileTree.child? name es = some t) (hname : PathName.IsName name) :
    follow root place [name] = .ok (name :: place) := by
  rw [follow, hplace]
  dsimp only
  rw [if_neg (not_or.mpr ⟨hname.1, hname.2.1⟩), if_neg hname.2.2.1, hchild]
  rfl

/-- An empty piece at the end of a path leads nowhere else. -/
theorem follow_trunk {root : FileTree} {place p : List FileName} {folder : PathName}
    (h : follow root place (PathName.pieces folder) = .ok p) :
    follow root place (PathName.trunk folder) = .ok p := by
  rcases PathName.pieces_eq_trunk folder with hpieces | hpieces
  · rwa [hpieces] at h
  · rw [hpieces, follow_append] at h
    cases hq : follow root place (PathName.trunk folder) with
    | error fault =>
      rw [hq] at h
      cases h
    | ok q =>
      rw [hq] at h
      change follow root q [[]] = .ok p at h
      rw [follow] at h
      split at h
      · cases h
      · cases h
      · rwa [if_pos (.inl rfl)] at h

/-- An entry is looked for from the same place as its folder. -/
theorem start_trunk (fs : FileSystem) {folder : PathName} (hne : folder ≠ []) (piece : List UInt8) :
    fs.start (PathName.trunk folder ++ [piece]) = fs.start (PathName.pieces folder) := by
  -- Only the empty path would start elsewhere once a piece is added: at the root.
  cases htrunk : PathName.trunk folder with
  | nil => exact absurd htrunk (PathName.trunk_ne_nil folder)
  | cons first more =>
    rcases PathName.pieces_eq_trunk folder with hpieces | hpieces
    · rw [htrunk] at hpieces
      rw [hpieces]
      cases first with
      | cons c cs => rfl
      | nil =>
        cases more with
        | cons second more => rfl
        | nil => exact absurd (Text.eq_nil_of_splitAt hpieces) hne
    · rw [hpieces, htrunk]
      cases first with
      | cons c cs => rfl
      | nil => cases more <;> rfl

theorem locate_eq_ok_iff {names : List FileName} :
    fs.locate path = .ok names ↔ path ≠ [] ∧ ∃ place,
      follow fs.root (fs.start (PathName.pieces path)) (PathName.pieces path) = .ok place ∧
        names = place.reverse := by
  unfold locate
  by_cases hempty : path = []
  · simp [hempty]
  · rw [if_neg hempty]
    change (follow fs.root (fs.start (PathName.pieces path)) (PathName.pieces path)).map _ = _ ↔ _
    cases follow fs.root (fs.start (PathName.pieces path)) (PathName.pieces path) with
    | error fault => simp [Except.map]
    | ok place => simp [Except.map, hempty, eq_comm]

/-- An entry is found at the path of its folder and its name. -/
theorem find_join {folder : PathName} {name : FileName} {es : List (FileName × FileTree)} {t : FileTree}
    (hfolder : fs.find folder = .ok (.folder es)) (hchild : FileTree.child? name es = some t)
    (hname : PathName.IsName name) : fs.find (PathName.join folder name) = .ok t := by
  obtain ⟨names, hlocate, hfound⟩ := find_eq_ok_iff.mp hfolder
  obtain ⟨hne, place, hfollow, rfl⟩ := locate_eq_ok_iff.mp hlocate
  have hjoin : PathName.join folder name ≠ [] := by
    intro hempty
    have hlast := PathName.fileName?_join folder hname
    rw [hempty] at hlast
    cases hlast
  have hstep : follow fs.root (fs.start (PathName.pieces (PathName.join folder name)))
      (PathName.pieces (PathName.join folder name)) = .ok (name :: place) := by
    rw [PathName.pieces_join folder hname, start_trunk fs hne, follow_append, follow_trunk hfollow]
    exact follow_name hfound hchild hname
  refine find_eq_ok_iff.mpr ⟨_, locate_eq_ok_iff.mpr ⟨hjoin, _, hstep, rfl⟩, ?_⟩
  rw [List.reverse_cons, FileTree.find?_append, hfound, Option.bind_some,
    FileTree.find?_folder_cons, hchild]
  rfl

/-- **What some names lead to is found at the path they make**, by induction on the names. -/
theorem find_pathTo {folder : PathName} {t u : FileTree} {names : List FileName}
    (hfolder : fs.find folder = .ok t) (ht : t.WellFormed) (hu : t.find? names = some u) :
    fs.find (PathName.pathTo folder names) = .ok u := by
  induction names generalizing folder t with
  | nil =>
    cases hu
    exact hfolder
  | cons name names ih =>
    cases ht with
    | file bytes => cases hu
    | folder hnodup hnames hentries =>
      rw [FileTree.find?_folder_cons] at hu
      obtain ⟨v, hv, hu⟩ := Option.bind_eq_some_iff.mp hu
      have hmem := FileTree.mem_of_child? hv
      exact ih (find_join hfolder hv (hnames _ hmem)) (hentries _ hmem) hu

/-! ## The name of what is at a path -/

/-- The name of what a path leads to. The root has none. -/
def ownName? (fs : FileSystem) (path : PathName) : Option FileName :=
  (fs.locate path).toOption.bind List.getLast?

/-- Empty pieces and dots lead nowhere else. -/
theorem follow_blank {root : FileTree} {place p : List FileName} {ps : List (List UInt8)}
    (hblank : ∀ piece ∈ ps, piece = [] ∨ piece = [PathName.dot]) (h : follow root place ps = .ok p) :
    p = place := by
  induction ps with
  | nil => exact (Except.ok.inj h).symm
  | cons piece ps ih =>
    rw [follow] at h
    split at h
    · cases h
    · cases h
    · rw [if_pos (hblank piece List.mem_cons_self)] at h
      exact ih (fun q hq => hblank q (List.mem_cons_of_mem piece hq)) h

/-- Behind a name come only pieces that do not count, so the way ends with it. -/
theorem head_of_follow_name {root : FileTree} {place p : List FileName} {name : FileName}
    {ps : List (List UInt8)} (hname : PathName.IsName name)
    (hblank : ∀ piece ∈ ps, piece = [] ∨ piece = [PathName.dot])
    (h : follow root place (name :: ps) = .ok p) : p = name :: place := by
  rw [follow] at h
  split at h
  · cases h
  · cases h
  · rw [if_neg (not_or.mpr ⟨hname.1, hname.2.1⟩), if_neg hname.2.2.1] at h
    split at h
    · exact follow_blank hblank h
    · cases h

/-- A path that ends in a name leads to something of that name. -/
theorem ownName?_of_fileName? {t : FileTree} {name : FileName} (hfind : fs.find path = .ok t)
    (hname : PathName.fileName? path = some name) : fs.ownName? path = some name := by
  obtain ⟨names, hlocate, -⟩ := find_eq_ok_iff.mp hfind
  obtain ⟨-, place, hfollow, rfl⟩ := locate_eq_ok_iff.mp hlocate
  obtain ⟨hisName, before, after, hpieces, hblank⟩ := PathName.fileName?_eq_some_iff.mp hname
  have hend := hfollow
  rw [hpieces, follow_append] at hend
  cases hq : follow fs.root (fs.start (before ++ name :: after)) before with
  | error fault =>
    rw [hq] at hend
    cases hend
  | ok q =>
    rw [hq] at hend
    have hplace : place = name :: q := head_of_follow_name hisName hblank hend
    rw [ownName?, hlocate, hplace, List.reverse_cons]
    exact List.getLast?_concat

theorem isName_of_ownName? {t : FileTree} {name : FileName} (hroot : fs.root.WellFormed)
    (hfind : fs.find path = .ok t) (hname : fs.ownName? path = some name) : PathName.IsName name := by
  obtain ⟨names, hlocate, hfound⟩ := find_eq_ok_iff.mp hfind
  rw [ownName?, hlocate] at hname
  exact hroot.isName_of_find? hfound name (List.mem_of_getLast? hname)

end FileSystem

end ClassGraph
